import SupremeOs.Licensing.DealerLicensing
import SupremeOs.Support.Histories

/-!
# A licence is sold once

Each licence should be superseded by at most one other, and by the time it is
superseded it should have ended.  Then the licences of one sale form a chain, of
which only the last one can be live.

The activation looks for revoked records only, not for transferred ones, and the
transfer does not look at the status at all.
-/

namespace SupremeOs.Licensing

open Support List Option

variable {signPayload : LicensePayload → String}
variable {store next : LicenseRecordStore} {history : List LicenseEvent}

instance (config : LicenseRecordStore × List LicenseEvent) :
    ∀ step, Decidable (drawnFresh config step) := by
  intro step
  unfold drawnFresh
  split <;> infer_instance

instance (config : LicenseRecordStore × List LicenseEvent) :
    ∀ step, Decidable (sourceLive config step) := by
  intro step
  unfold sourceLive
  split <;> infer_instance

structure SalesSound (store : LicenseRecordStore) (history : List LicenseEvent) : Prop where
  keyed : ∀ id record, store.get id = some record → record.id = id
  superseded : ∀ id later, Supersedes store id later →
    ∃ record, store.get id = some record ∧ record.status.live = false
  oneHeir : ∀ id left right, Supersedes store id left → Supersedes store id right → left = right
  ended : ∀ id, .ended id ∈ history ↔
    ∃ record, store.get id = some record ∧ record.status.live = false
  sources : SourcesLive history

theorem SalesSound.empty : SalesSound .empty [] := by
  constructor <;> simp [Supersedes, SourcesLive]

variable {id : String} {record : LicenseRecord}

section

variable (sound : SalesSound store history)

include sound

theorem SalesSound.eq_of_reflTransGen {later : String}
    (chain : Relation.ReflTransGen (Supersedes store) id later)
    (found : store.get id = some record) (live : record.status.live = true) : id = later := by
  rcases chain.cases_head with same | ⟨heir, first, _⟩
  · exact same
  · rcases sound.superseded id heir first with ⟨ended, there, notLive⟩
    rw [found, some.injEq] at there
    rw [there, notLive] at live
    cases live

theorem SalesSound.oneLive {left right : String}
    {leftRecord rightRecord : LicenseRecord} (sale : SameSale store left right)
    (leftFound : store.get left = some leftRecord) (rightFound : store.get right = some rightRecord)
    (leftLive : leftRecord.status.live = true) (rightLive : rightRecord.status.live = true) :
    left = right := by
  rcases sale with ⟨original, toLeft, toRight⟩
  have unique : Relator.RightUnique (Supersedes store) := fun id one other first second =>
    sound.oneHeir id one other first second
  rcases Relation.ReflTransGen.total_of_right_unique unique toLeft toRight with forth | back
  · exact sound.eq_of_reflTransGen forth leftFound leftLive
  · exact (sound.eq_of_reflTransGen back rightFound rightLive).symm

theorem SalesSound.values_pairwise :
    store.values.Pairwise fun left right => left.id ≠ right.id := by
  have ids : store.values.map LicenseRecord.id = store.keys := by
    rw [OrderedMap.values, OrderedMap.keys, List.map_map]
    apply map_congr_left
    rintro ⟨key, record⟩ member
    exact sound.keyed key record (OrderedMap.get_eq_some_iff.mpr member)
  have distinct := store.nodup
  rw [← OrderedMap.keys, ← ids] at distinct
  exact pairwise_map.mp distinct

theorem SalesSound.holds : LicencesHold store history where
  oneLive := fun _ _ _ _ sale leftFound rightFound leftLive rightLive =>
    sound.oneLive sale leftFound rightFound leftLive rightLive
  staysEnded := fun id => (sound.ended id).mp
  sources := sound.sources
  countedOnce := by
    intro dealerOrgId
    have inside : ∀ record ∈ DealerLicensingService.counted store dealerOrgId,
        store.get record.id = some record ∧ record.status.live = true := by
      intro record member
      simp only [DealerLicensingService.counted, mem_filter, decide_eq_true_eq] at member
      rcases OrderedMap.mem_values_iff.mp member.1.1 with ⟨id, found⟩
      exact ⟨by rw [sound.keyed id record found, found], by rw [member.2]; rfl⟩
    have distinct : (DealerLicensingService.counted store dealerOrgId).Pairwise
        fun left right => left.id ≠ right.id :=
      (sound.values_pairwise.filter _).filter _
    refine distinct.imp_of_mem fun {left right} leftMember rightMember different sale => ?_
    exact different (sound.oneLive sale (inside left leftMember).1 (inside right rightMember).1
      (inside left leftMember).2 (inside right rightMember).2)

end

theorem get_put (record : LicenseRecord) (id : String) :
    (store.put record).get id = if id = record.id then some record else store.get id := by
  rw [LicenseRecordStore.put, OrderedMap.get_set]

theorem supersedes_put {record updated : LicenseRecord} (found : store.get updated.id = some record)
    (same : updated.supersedes = record.supersedes) {id heir : String}
    (link : Supersedes (store.put updated) id heir) : Supersedes store id heir := by
  rcases link with ⟨there, stored, source⟩
  rw [get_put] at stored
  split at stored
  · rename_i named
    cases stored
    exact ⟨record, by rw [named, found], by rw [← same, source]⟩
  · exact ⟨there, stored, source⟩

theorem SalesSound.restatus (sound : SalesSound store history)
    {updated : LicenseRecord} {later : List LicenseEvent}
    (found : store.get id = some record) (sameId : updated.id = id)
    (sameSource : updated.supersedes = record.supersedes)
    (staysEnded : record.status.live = false → updated.status.live = false)
    (ended : ∀ other, .ended other ∈ later ↔
      .ended other ∈ history ∨ other = id ∧ updated.status.live = false)
    (sources : SourcesLive later) :
    SalesSound (store.put updated) later := by
  subst sameId
  refine ⟨?_, ?_, ?_, ?_, sources⟩
  · intro other stored there
    rw [get_put] at there
    split at there
    · rename_i same
      rw [← some.inj there, same]
    · exact sound.keyed other stored there
  · intro source heir link
    rcases sound.superseded source heir (supersedes_put found sameSource link) with
      ⟨old, there, notLive⟩
    rw [get_put]
    split
    · rename_i same
      rw [same, found, some.injEq] at there
      exact ⟨updated, rfl, staysEnded (there ▸ notLive)⟩
    · exact ⟨old, there, notLive⟩
  · exact fun source left right one other => sound.oneHeir source left right
      (supersedes_put found sameSource one) (supersedes_put found sameSource other)
  · intro other
    rw [ended, sound.ended, get_put]
    by_cases same : other = updated.id
    · rw [if_pos same, same, found]
      simpa using staysEnded
    · simp [same]

theorem SalesSound.newborn (sound : SalesSound store history) (record : LicenseRecord)
    (read : ∀ other, next.get other = if other = record.id then some record else store.get other)
    (fresh : store.get record.id = none) (live : record.status.live = true)
    (source : ∀ id ∈ record.supersedes, (∃ old, store.get id = some old ∧ old.status.live = false) ∧
        ∀ heir, ¬Supersedes store id heir) :
    SalesSound next history := by
  have split_ : ∀ {id heir}, Supersedes next id heir →
      heir = record.id ∧ record.supersedes = some id ∨ Supersedes store id heir := by
    rintro id heir ⟨there, stored, source_eq⟩
    rw [read] at stored
    split at stored
    · rename_i same
      cases stored
      exact .inl ⟨same, source_eq⟩
    · exact .inr ⟨there, stored, source_eq⟩
  have kept : ∀ {id old}, store.get id = some old → next.get id = some old := by
    intro id old there
    rw [read, if_neg, there]
    rintro rfl
    rw [fresh] at there
    cases there
  refine ⟨?_, ?_, ?_, ?_, sound.sources⟩
  · intro other stored there
    rw [read] at there
    split at there
    · rename_i same
      rw [← some.inj there, same]
    · exact sound.keyed other stored there
  · intro id heir link
    rcases split_ link with ⟨_, source_eq⟩ | old
    · rcases (source id source_eq).1 with ⟨parent, there, notLive⟩
      exact ⟨parent, kept there, notLive⟩
    · rcases sound.superseded id heir old with ⟨parent, there, notLive⟩
      exact ⟨parent, kept there, notLive⟩
  · intro id left right one other
    rcases split_ one with ⟨rfl, source_eq⟩ | old
    · rcases split_ other with ⟨rfl, _⟩ | oldOther
      · rfl
      · exact absurd oldOther ((source id source_eq).2 right)
    · rcases split_ other with ⟨rfl, source_eq⟩ | oldOther
      · exact absurd old ((source id source_eq).2 left)
      · exact sound.oneHeir id left right old oldOther
  · intro id
    rw [sound.ended]
    constructor
    · rintro ⟨old, there, notLive⟩
      exact ⟨old, kept there, notLive⟩
    · rintro ⟨stored, there, notLive⟩
      rw [read] at there
      split at there
      · rw [← some.inj there, live] at notLive
        cases notLive
      · exact ⟨stored, there, notLive⟩

theorem SourcesLive.ended (sources : SourcesLive history) (id : String) :
    SourcesLive (history ++ [.ended id]) := by
  intro earlier source later split
  rcases concat_eq_append_cons.mp split with ⟨_, impossible, _⟩ | ⟨before, _, same⟩
  · cases impossible
  · exact sources earlier source before same

theorem SourcesLive.renewed (sources : SourcesLive history)
    (going : .ended id ∉ history) : SourcesLive (history ++ [.renewed id]) := by
  intro earlier source later split
  rcases concat_eq_append_cons.mp split with ⟨rfl, same, _⟩ | ⟨before, _, same⟩
  · rwa [← LicenseEvent.renewed.inj same]
  · exact sources earlier source before same

section

variable (sound : SalesSound store history)

include sound

theorem SalesSound.issue {input : IssueForCustomerInput}
    {issuedAt : String} (fresh : store.get id = none) (written : Nat) :
    SalesSound (((DealerLicensingService.issue signPayload input id issuedAt).writes.take
      written).foldl LicenseRecordStore.put store) history := by
  cases written with
  | zero => exact sound
  | succ written =>
    simp only [DealerLicensingService.issue, take_succ_cons, take_nil, foldl_cons, foldl_nil]
    exact sound.newborn _ (fun other => get_put _ other) fresh rfl (by simp)

theorem SalesSound.activate {now : String} (found : store.get id = some record)
    (live : record.status.live = true) :
    SalesSound (store.put { record with status := .activated, activatedAt := some now })
      history := by
  refine sound.restatus found (sound.keyed id record found) rfl ?_ ?_ sound.sources
  · intro ended
    rw [live] at ended
    cases ended
  · simp [LicenseRecordStatus.live]

theorem SalesSound.revoke (found : store.get id = some record) :
    SalesSound (store.put { record with status := .revoked }) (history ++ [.ended id]) := by
  refine sound.restatus found (sound.keyed id record found) rfl (fun _ => rfl) ?_
    (sound.sources.ended id)
  simp [LicenseRecordStatus.live]

theorem SalesSound.transferred (found : store.get id = some record) :
    SalesSound (store.put { record with status := .transferred }) (history ++ [.ended id]) := by
  refine sound.restatus found (sound.keyed id record found) rfl (fun _ => rfl) ?_
    (sound.sources.ended id)
  simp [LicenseRecordStatus.live]

theorem SalesSound.renewed (found : store.get id = some record) (live : record.status.live = true) :
    SalesSound (store.put { record with status := .transferred })
      (history ++ [.renewed id, .ended id]) := by
  have going : .ended id ∉ history := by
    intro ended
    rcases (sound.ended id).mp ended with ⟨other, there, notLive⟩
    rw [found, some.injEq] at there
    rw [there, notLive] at live
    cases live
  refine sound.restatus found (sound.keyed id record found) rfl (fun _ => rfl) ?_ ?_
  · simp [LicenseRecordStatus.live]
  · rw [append_cons]
    exact (sound.sources.renewed going).ended id

end

theorem transfer_writes {licenseId newHomeId issuedAt : String}
    {performed : Performed} (found : store.get licenseId = some record)
    (made : DealerLicensingService.transfer signPayload store licenseId newHomeId id issuedAt =
      .ok performed) :
    ∃ issued : LicenseRecord, performed.writes = [{ record with status := .transferred }, issued,
        { issued with supersedes := some record.id }] ∧
      issued.id = id ∧ issued.status = .issued ∧ issued.supersedes = none := by
  simp only [DealerLicensingService.transfer, DealerLicensingService.requireRecord, found,
    Except.ok.injEq] at made
  subst made
  exact ⟨_, rfl, rfl, rfl, rfl⟩

theorem SalesSound.transfer (sound : SalesSound store history) {licenseId : String}
    {issued : LicenseRecord} (found : store.get licenseId = some record)
    (fresh : store.get issued.id = none) (status : issued.status = .issued)
    (source : issued.supersedes = none) (written : Nat)
    (ready : 2 ≤ written → record.status.live = true) :
    SalesSound
      ((List.take written [{ record with status := .transferred }, issued,
        { issued with supersedes := some record.id }]).foldl LicenseRecordStore.put store)
      (history ++ ((if 2 ≤ written then [.renewed licenseId] else []) ++
        (if 1 ≤ written then [.ended licenseId] else []))) := by
  obtain rfl := sound.keyed licenseId record found
  have other : issued.id ≠ record.id := by
    intro same
    rw [same, found] at fresh
    cases fresh
  match written with
  | 0 => simpa using sound
  | 1 => simpa using sound.transferred found
  | more + 2 =>
    have live := ready (Nat.le_add_left 2 more)
    have first := sound.renewed found live
    have unused : (store.put { record with status := .transferred }).get issued.id = none := by
      rw [get_put, if_neg other, fresh]
    have issuedLive : issued.status.live = true := by rw [status]; rfl
    simp only [Nat.le_add_left, if_true, take_succ_cons, foldl_cons]
    match more with
    | 0 => exact first.newborn issued (get_put issued) unused issuedLive (by simp [source])
    | more + 1 =>
      simp only [take_succ_cons, take_nil, foldl_cons, foldl_nil]
      refine first.newborn { issued with supersedes := some record.id } (fun query => ?_)
        unused issuedLive ?_
      · rw [get_put, get_put]
        split <;> rfl
      · intro id superseded
        cases superseded
        refine ⟨⟨_, by rw [get_put, if_pos rfl], rfl⟩, fun heir link => ?_⟩
        have before : Supersedes store record.id heir :=
          @supersedes_put store record { record with status := .transferred } found rfl _ _ link
        rcases sound.superseded _ heir before with ⟨parent, there, notLive⟩
        rw [found, some.injEq] at there
        rw [there, notLive] at live
        cases live

theorem SalesSound.step (sound : SalesSound store history) {step : LicenseStep}
    (fresh : drawnFresh (store, history) step) (live : sourceLive (store, history) step)
    (taken : (licensingMachine signPayload).step store step = some next) :
    SalesSound next (noteStep store step next history) := by
  rcases step with ⟨call, written⟩
  cases call with
  | issue input id issuedAt =>
    cases taken
    simpa [noteStep, LicenseStep.events] using sound.issue fresh written
  | markActivated licenseId now =>
    have unnoted : noteStep store ⟨.markActivated licenseId now, written⟩ next history =
        history := append_nil history
    rw [unnoted]
    simp only [licensingMachine, LicenseCall.perform, DealerLicensingService.markActivated,
      DealerLicensingService.requireRecord] at taken
    cases found : store.get licenseId with
    | none =>
      simp only [found, some.injEq] at taken
      exact taken ▸ sound
    | some record =>
      simp only [found] at taken
      split_ifs at taken with revoked
      · exact some.inj taken ▸ sound
      · cases taken
        cases written with
        | zero => exact sound
        | succ written =>
          simp only [take_succ_cons, take_nil, foldl_cons, foldl_nil]
          refine sound.activate found ?_
          have kept : record.status ≠ .transferred := live (Nat.le_add_left 1 _) record found
          cases status : record.status with
          | issued => rfl
          | activated => rfl
          | revoked => exact absurd status revoked
          | transferred => exact absurd status kept
  | revoke licenseId =>
    simp only [licensingMachine, LicenseCall.perform, DealerLicensingService.revoke,
      DealerLicensingService.requireRecord] at taken
    cases found : store.get licenseId with
    | none =>
      simp only [found, some.injEq] at taken
      simpa [noteStep, LicenseStep.events, OrderedMap.has, found] using taken ▸ sound
    | some record =>
      simp only [found, some.injEq] at taken
      subst taken
      cases written with
      | zero => simpa [noteStep, LicenseStep.events] using sound
      | succ written =>
        simpa [noteStep, LicenseStep.events, OrderedMap.has, found] using sound.revoke found
  | transfer licenseId newHomeId id issuedAt =>
    simp only [licensingMachine, LicenseCall.perform] at taken
    cases found : store.get licenseId with
    | none =>
      simp only [DealerLicensingService.transfer, DealerLicensingService.requireRecord, found,
        some.injEq] at taken
      simpa [noteStep, LicenseStep.events, OrderedMap.has, found] using taken ▸ sound
    | some record =>
      cases made : DealerLicensingService.transfer signPayload store licenseId newHomeId id
          issuedAt with
      | error error =>
        simp [DealerLicensingService.transfer, DealerLicensingService.requireRecord, found] at made
      | ok performed =>
        rcases transfer_writes found made with ⟨issued, writes, drawn, status, source⟩
        simp only [made, writes, some.injEq] at taken
        subst taken
        have there : store.has licenseId = true := by simp [OrderedMap.has, found]
        simp only [noteStep, LicenseStep.events, there, if_true]
        exact sound.transfer found (drawn ▸ fresh) status source written
          fun enough => live enough record found

theorem SalesSound.source_live (sound : SalesSound store history) {step : LicenseStep}
    (taken : (licensingMachine signPayload).step store step = some next)
    (holds : LicencesHold next (noteStep store step next history)) :
    sourceLive (store, history) step := by
  rcases step with ⟨call, written⟩
  cases call with
  | issue input id issuedAt => trivial
  | revoke licenseId => trivial
  | markActivated licenseId now =>
    intro enough record found transferred
    have ended := (sound.ended licenseId).mpr ⟨record, found, by rw [transferred]; rfl⟩
    have noted : .ended licenseId ∈ noteStep store ⟨.markActivated licenseId now, written⟩ next
        history := mem_append_left _ ended
    rcases holds.staysEnded licenseId noted with ⟨after, there, notLive⟩
    have found : store.get licenseId = some record := found
    have some_ : 1 ≤ written := enough
    obtain ⟨more, rfl⟩ : ∃ more, written = more + 1 := ⟨written - 1, by omega⟩
    have notRevoked : record.status ≠ .revoked := by rw [transferred]; decide
    simp only [licensingMachine, LicenseCall.perform, DealerLicensingService.markActivated,
      DealerLicensingService.requireRecord, found, notRevoked, if_false, take_succ_cons,
      take_nil, foldl_cons, foldl_nil, some.injEq] at taken
    rw [← taken, get_put, if_pos (sound.keyed licenseId record found).symm] at there
    rw [← some.inj there] at notLive
    cases notLive
  | transfer licenseId newHomeId id issuedAt =>
    intro enough record found
    have found : store.get licenseId = some record := found
    have there : store.has licenseId = true := by simp [OrderedMap.has, found]
    have notEnded := holds.sources history licenseId [.ended licenseId] (by
      simp [noteStep, LicenseStep.events, there, enough, Nat.le_of_succ_le enough])
    by_contra notLive
    exact notEnded ((sound.ended licenseId).mpr ⟨record, found, by simpa using notLive⟩)

/--
The licences of a sale stay one exactly if no transferred licence is activated
and only live ones are renewed.
-/
theorem licencesHold_throughout_iff {steps : List LicenseStep}
    (fresh : ((licensingMachine signPayload).recording noteStep).Guarded drawnFresh (.empty, [])
      steps) :
    ((licensingMachine signPayload).recording noteStep).Throughout
        (fun config => LicencesHold config.1 config.2) (.empty, []) steps ↔
      ((licensingMachine signPayload).recording noteStep).Guarded sourceLive (.empty, [])
        steps := by
  refine Machine.throughout_iff_guarded_of_assumed
    (fun config => SalesSound config.1 config.2) drawnFresh ?_ ?_ SalesSound.empty
    SalesSound.empty.holds fresh
  · rintro ⟨store, history⟩ step after sound _ drawn taken
    rcases Machine.step_recording_eq_some.mp taken with ⟨next, stepped, rfl⟩
    exact ⟨fun holds => sound.source_live stepped holds,
      fun live => (sound.step drawn live stepped).holds⟩
  · rintro ⟨store, history⟩ step after sound _ drawn live taken
    rcases Machine.step_recording_eq_some.mp taken with ⟨next, stepped, rfl⟩
    exact sound.step drawn live stepped

def transferredOnce : List LicenseStep :=
  [⟨.issue ⟨"dealer-acme", "home_1", "pro", some 5, none, none⟩ "lic_1" "2026-01-01T00:00:00.000Z",
      1⟩, ⟨.markActivated "lic_1" "2026-01-02T00:00:00.000Z", 1⟩,
    ⟨.transfer "lic_1" "home_2" "lic_2" "2026-02-01T00:00:00.000Z", 3⟩,
    ⟨.markActivated "lic_2" "2026-02-02T00:00:00.000Z", 1⟩]

theorem licencesHold_transferredOnce :
    ((licensingMachine fun _ => "").recording noteStep).Throughout
      (fun config => LicencesHold config.1 config.2) (.empty, []) transferredOnce :=
  (licencesHold_throughout_iff (by decide +kernel)).mpr (by decide +kernel)

/-- The old hub reports its licence as activated once more. -/
def reportedLate : List LicenseStep :=
  transferredOnce ++ [⟨.markActivated "lic_1" "2026-02-03T00:00:00.000Z", 1⟩]

/-- The seats of one sale are counted twice. -/
theorem licencesHold_fails_reportedLate :
    ¬ ∀ (signPayload : LicensePayload → String) (steps : List LicenseStep),
      ((licensingMachine signPayload).recording noteStep).Guarded drawnFresh (.empty, []) steps →
      ((licensingMachine signPayload).recording noteStep).Throughout
        (fun config => LicencesHold config.1 config.2) (.empty, []) steps := by
  intro every
  have observed : (((licensingMachine fun _ => "").recording noteStep).run (.empty, [])
      reportedLate).map (fun config =>
        ((config.1.get "lic_1").map fun record => (record.status.live, record.supersedes),
          (config.1.get "lic_2").map fun record => (record.status.live, record.supersedes),
          DealerLicensingService.seatsInUse config.1 "dealer-acme")) =
      some (some (true, none), some (true, some "lic_1"), 10) := by
    decide +kernel
  rcases Option.map_eq_some_iff.mp observed with ⟨⟨store, history⟩, reached, fields⟩
  injection fields with first fields
  injection fields with second _
  rcases Option.map_eq_some_iff.mp first with ⟨old, oldFound, oldFields⟩
  rcases Option.map_eq_some_iff.mp second with ⟨renewed, newFound, newFields⟩
  injection oldFields with oldLive _
  injection newFields with newLive source
  have holds := Machine.property_of_throughout
    (every (fun _ => "") reportedLate (by decide +kernel)) reached
  have sale : SameSale store "lic_1" "lic_2" :=
    ⟨"lic_1", .refl, .single ⟨renewed, newFound, source⟩⟩
  exact absurd (holds.oneLive _ _ _ _ sale oldFound newFound oldLive newLive) (by decide)

end SupremeOs.Licensing
