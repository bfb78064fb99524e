import InterClusterFabric.RuntimeLedger
import InterClusterFabric.RuntimeReports

/-! How often a grant is reserved. A grant that leaves the committed state keeps its reservations, and a grant that comes
to it once more is reserved once more, so that one endpoint may hold two reservations of the same grant. -/
namespace InterClusterFabric.RuntimeOnce
open CoreStatus CoreIds CoreTime ModelRecords ModelRegistry ModelRegistryLaws EngineDecision EngineSoundness
open WireMessages RuntimeFencing RuntimeCoordinator RuntimeHandlers RuntimeRun RuntimeEdits RuntimeSteps
open RuntimeStepsHandlers RuntimeStepsAdmin RuntimeStart RuntimeFencePlans RuntimeClusterFences RuntimeParties
open RuntimeReports RuntimeLedger StoreMutation StoreDurable LibraryOrdMap LibraryProgram

/-- An unreleased reservation stands under the key. -/
def Unreleased (registry : Registry) (key : ReservationId) (reservation : ReservationRecord) : Prop :=
  registry.reservations[key]? = some reservation ∧ reservation.released = false

/-- No grant has two unreleased reservations at one endpoint. -/
def AtMostOne (registry : Registry) : Prop :=
  ∀ key other r r', Unreleased registry key r → Unreleased registry other r' →
    r'.grant = r.grant → r'.cluster = r.cluster → r'.endpoint = r.endpoint → other = key

/-- Reservations are at most released. -/
def Releases (registry next : Registry) : Prop := ∀ key r, Unreleased next key r → Unreleased registry key r

section Registry

variable {registry next : Registry}

lemma AtMostOne.of_releases (hone : AtMostOne registry) (h : Releases registry next) : AtMostOne next :=
  fun key other r r' hr hr' => hone key other r r' (h key r hr) (h other r' hr')

lemma releases_of_same (h : next.reservations = registry.reservations) : Releases registry next := by
  intro key r hr
  rw [Unreleased, h] at hr
  exact hr

/-- Without the word of an agent, reservations are at most released. -/
lemma releases_of_edits {scene : Scene} (hstill : ¬scene.settles) (hformed : WellFormed registry)
    (h : Edits scene registry next) : Releases registry next := by
  induction h with
  | refl => exact fun _ _ hr => hr
  | @tail last after hedits hedit ih =>
    intro key r hr
    refine ih key r ?_
    rcases edit_reservations (edits_wellFormed hformed hedits) hedit key with hsame | ⟨old, now, -, hnext⟩ | hsettles
    · rw [Unreleased, hsame] at hr
      exact hr
    · rw [Unreleased, hnext, Option.some.injEq] at hr
      obtain ⟨rfl, hreleased⟩ := hr
      cases hreleased
    · exact absurd hsettles hstill

/-- A reservation at an endpoint where the grant has none. -/
lemma atMostOne_store {reservation : ReservationRecord} (hone : AtMostOne registry)
    (hvacant : ∀ key r, Unreleased registry key r → r.grant = reservation.grant → r.cluster ≠ reservation.cluster) :
    AtMostOne (store registry (.reservation reservation)) := by
  have hcases {key : ReservationId} {r : ReservationRecord}
      (h : Unreleased (store registry (.reservation reservation)) key r) :
      key = reservation.id ∧ r = reservation ∨ Unreleased registry key r := by
    obtain ⟨hfind, hopen⟩ := h
    dsimp only [store] at hfind
    rw [getElem?_insert_eq] at hfind
    split at hfind
    · rename_i hkey
      cases hfind
      exact .inl ⟨hkey, rfl⟩
    · exact .inr ⟨hfind, hopen⟩
  intro key other r r' hr hr' hgrant hcluster hendpoint
  rcases hcases hr with ⟨hkey, hthis⟩ | hold <;> rcases hcases hr' with ⟨hother, hthis'⟩ | hold'
  · rw [hkey, hother]
  · rw [hthis] at hgrant hcluster
    exact absurd hcluster (hvacant other r' hold' hgrant)
  · rw [hthis'] at hgrant hcluster
    exact absurd hcluster.symm (hvacant key r hold hgrant.symm)
  · exact hone key other r r' hold hold' hgrant hcluster hendpoint

end Registry

/-! One operation. -/

/-- No second reservation has been made. -/
def Once (s s' : Coordinator) : Prop := AtMostOne s.registry → AtMostOne s'.registry

instance : Std.Refl Once := ⟨fun _ h => h⟩

instance : IsTrans Coordinator Once := ⟨fun _ _ _ h h' hone => h' (h hone)⟩

section Operations

variable {s : Coordinator}

lemma once_of_releases {s' : Coordinator} (h : Releases s.registry s'.registry) : Once s s' :=
  fun hone => hone.of_releases h

lemma once_of_same {s' : Coordinator} (h : s'.registry.reservations = s.registry.reservations) : Once s s' :=
  once_of_releases (releases_of_same h)

lemma once_of_level {α : Type} {p : Op α} (h : Steps Level p s fun _ _ => True) : Steps Once p s fun _ _ => True :=
  (h.weaken fun _ hlevel => once_of_same hlevel.reservations).mono fun _ _ _ => trivial

lemma once_of_keeps {α : Type} {p : Op α} {Q : α → Coordinator → Prop} (h : Steps Kept p s Q) :
    Steps Once p s fun _ s' => Kept s s' :=
  (h.weaken fun _ hkept => once_of_same (by rw [hkept.registry])).mono fun _ _ h => h.1

lemma level_of_keeps {α : Type} {p : Op α} {Q : α → Coordinator → Prop} (h : Steps Kept p s Q) :
    Steps Level p s fun _ _ => True := by
  refine (h.weaken fun _ hkept => ?_).mono fun _ _ _ => trivial
  exact ⟨by rw [hkept.registry], by rw [hkept.registry], by rw [hkept.registry]⟩

/-- One side of a grant that has no reservation at the cluster of the party. -/
lemma reserveSide_once (hformed : WellFormed s.registry) (grant : GrantRecord) (now : Timestamp) (party : PartyRef)
    (hvacant : ∀ key r, Unreleased s.registry key r → r.grant = grant.id → r.cluster ≠ party.cluster) :
    Steps Once (reserveSide grant now party) s fun _ s' => WellFormed s'.registry ∧
      ∀ key r, Unreleased s'.registry key r → r.grant = grant.id → Unreleased s.registry key r ∨ r.cluster = party.cluster := by
  have hdoes : Does trusting (reserveSide grant now party) s fun _ _ => True :=
    (reserveSide_does trivial hformed grant now party).mono fun _ _ _ => trivial
  have hformed' : WellFormed (reserveSide grant now party s).2.registry := hdoes.related.formed hformed
  cases hroom : room s.registry grant party with
  | none =>
    obtain ⟨status, hrun⟩ := reserveSide_refused now hroom
    refine ⟨?_, fun a ha => ?_⟩
    · rw [hrun]
      exact fun h => h
    · rw [hrun] at ha
      cases ha
  | some found =>
    obtain ⟨cluster, endpoint⟩ := found
    have hkey : cluster.id = party.cluster := (find_cluster hformed (room_eq_some.mp hroom).1).1
    have hentered : Once s (entered grant now party s cluster endpoint) := by
      intro hone
      have hcounted : AtMostOne (counted grant party s cluster endpoint).registry := hone
      refine atMostOne_store hcounted fun key r hr hgrant => ?_
      rw [show (reservationOf grant now s cluster endpoint).cluster = party.cluster from hkey]
      exact hvacant key r hr hgrant
    by_cases hstores : Stores (counted grant party s cluster endpoint) (reservationOf grant now s cluster endpoint)
    · have hregistry : (reserveSide grant now party s).2.registry = (entered grant now party s cluster endpoint).registry := by
        rcases reserveSide_stored hroom hstores with ⟨-, hrun⟩ | ⟨-, status, s', hrun, hregistry⟩
        · rw [hrun, settled_registry]
        · rw [hrun, hregistry]
      refine ⟨fun hone => ?_, fun a _ => ⟨hformed', fun key r hr hgrant => ?_⟩⟩
      · rw [hregistry]
        exact hentered hone
      · rw [hregistry] at hr
        obtain ⟨hfind, hopen⟩ := hr
        dsimp only [entered, store] at hfind
        rw [getElem?_insert_eq] at hfind
        split at hfind
        · cases hfind
          exact .inr hkey
        · exact .inl ⟨hfind, hopen⟩
    · obtain ⟨status, hrun⟩ := reserveSide_unstored hroom hstores
      refine ⟨?_, fun a ha => ?_⟩
      · rw [hrun]
        exact once_of_same rfl
      · rw [hrun] at ha
        cases ha

/-- Both sides of a grant that has no reservation, at two different clusters. -/
lemma reserveCapacity_once (hformed : WellFormed s.registry) (grant : GrantRecord) (now : Timestamp)
    (hnone : ∀ key r, Unreleased s.registry key r → r.grant ≠ grant.id) :
    Steps Once (reserveCapacity grant now) s fun _ _ => True := by
  refine Steps.get_bind ?_
  split
  · exact Steps.throw
  rename_i contract hcontract
  obtain ⟨-, -, -, hapart, -⟩ := (find_contract hformed hcontract).2
  refine (reserveSide_once hformed grant now contract.parties.first fun key r hr hgrant => absurd hgrant (hnone key r hr)).bind
    fun _ s₁ _ hfirst => ?_
  refine Steps.bind (reserveSide_once hfirst.1 grant now contract.parties.second fun key r hr hgrant => ?_)
    fun _ _ _ _ => Steps.pure trivial
  rcases hfirst.2 key r hr hgrant with hold | hcluster
  · exact absurd hgrant (hnone key r hold)
  · rw [hcluster]
    exact hapart

lemma abortGrant_once (id : GrantId) (reason : Bytes) : Steps Once (abortGrant id reason) s fun _ _ => True :=
  ((abortGrant_abandons reason).weaken fun _ h => once_of_same h.reservations).mono fun _ _ _ => trivial

/-- A grant is reserved a second time only if it is finalised while it still has a reservation. -/
lemma finaliseGrant_once (hformed : WellFormed s.registry) {id : GrantId} (now : Timestamp)
    (hnone : ∀ grant, Due s id grant → ∀ key r, Unreleased s.registry key r → r.grant ≠ grant.id) :
    Steps Once (finaliseGrant id now) s fun _ _ => True := by
  refine Steps.get_bind ?_
  split
  · exact Steps.throw
  rename_i grant hfind
  split
  · exact Steps.pure trivial
  rename_i hunused
  split
  · exact Steps.throw
  rename_i hacks
  have hdue : Due s id grant := ⟨hfind, hunused, by simpa using hacks⟩
  refine Steps.attempt_bind (reserveCapacity_once hformed grant now (hnone grant hdue)) (fun _ s₁ _ _ => ?_)
    fun status s₁ _ => ?_
  · refine Steps.modify_bind (once_of_same rfl) ?_
    refine (once_of_level (appendMutation_level _)).bind fun _ s₂ _ _ => ?_
    refine Steps.modify_bind (once_of_same rfl) (Steps.modify_bind (once_of_same rfl) ?_)
    exact once_of_level (appendAudit_level _ _ _ _ _)
  · exact (abortGrant_once _ _).bind fun _ _ _ _ => Steps.throw

end Operations

/-! The handlers that finalise grants. -/

/-- The acknowledgement makes the coordinator finalise a grant that is not in use and still has a reservation. -/
def CommitsAgain (s : Coordinator) (connection : ℕ) (message : GrantCommittedMessage) : Prop :=
  ∃ grant, CommitCompletes s connection message grant ∧ ¬(grant.state = .committed ∨ grant.state = .active) ∧
    ∃ key, OpenFor s.registry message.grant key

/-- The report leaves the grant in doubt, with both acknowledgements. -/
structure Resumes (s : Coordinator) (session : PeerSession) (message : StatusReportMessage) (id : GrantId)
    (grant : GrantRecord) : Prop where
  registered : s.registry.grants[id]? = some grant
  spared : condemned s.registry session message grant = false
  state : (reconciled s.registry session message grant).state = .indeterminate
  acknowledged : (reconciled s.registry session message grant).bothAcknowledged = true

/-- The report makes the coordinator finalise a grant that still has a reservation. -/
def ResumesAgain (s : Coordinator) (connection : ℕ) (message : StatusReportMessage) : Prop :=
  ∃ session id grant, SpeaksAs s connection message.session session ∧ Resumes s session message id grant ∧
    ∃ key, OpenFor s.registry id key

/-- A grant that still has a reservation is finalised again. -/
def FinalisesAgain (s : Coordinator) : Event → Prop
  | .message connection (.grantCommitted message) => CommitsAgain s connection message
  | .message connection (.statusReport message) => ResumesAgain s connection message
  | _ => False

section Handlers

variable {s : Coordinator}

lemma replay_error_level (connection : ℕ) (request : Uuid) (outcome : Outcome) (detail : Bytes) :
    Steps Level (countReplay >>= fun _ => sendError connection request outcome detail) s fun _ _ => True :=
  Steps.modify_bind ⟨rfl, rfl, rfl⟩ (level_of_keeps (send_keeps _ rfl))

lemma withSession_once {connection : ℕ} {token : SessionToken} {body : PeerSession → Op Unit}
    (h : ∀ session, SpeaksAs s connection token session → Steps Once (body session) s fun _ _ => True) :
    Steps Once (withSession connection token body) s fun _ _ => True := by
  refine Steps.get_bind ?_
  dsimp only
  cases hsession : s.sessions[connection]? with
  | none => exact once_of_level (replay_error_level _ _ _ _)
  | some session =>
    split
    · exact once_of_level (replay_error_level _ _ _ _)
    · rename_i hfault
      exact h session ⟨hsession, hfault⟩

lemma withGrant_once {connection : ℕ} {session : PeerSession} {id : GrantId} {attempt : AttemptId}
    {body : GrantRecord → Side → Op Unit}
    (h : ∀ grant side, SpeaksFor s session id attempt grant side → Steps Once (body grant side) s fun _ _ => True) :
    Steps Once (withGrant connection session id attempt body) s fun _ _ => True := by
  refine Steps.get_bind ?_
  dsimp only
  split
  · exact once_of_level (level_of_keeps (send_keeps _ rfl))
  rename_i grant hgrant
  split
  · exact once_of_level (level_of_keeps (send_keeps _ rfl))
  rename_i contract hcontract
  split
  · exact once_of_level (level_of_keeps (send_keeps _ rfl))
  rename_i side hside
  split
  · exact once_of_level (replay_error_level _ _ _ _)
  rename_i hattempt
  split
  · exact once_of_level (replay_error_level _ _ _ _)
  rename_i hbound
  obtain ⟨hincarnation, hgeneration⟩ := not_or.mp hbound
  exact h grant side ⟨hgrant, ⟨contract, hcontract, hside⟩, not_not.mp hattempt,
    not_not.mp hincarnation, not_not.mp hgeneration⟩

lemma onGrantCommitted_once (hformed : WellFormed s.registry) {connection : ℕ} {message : GrantCommittedMessage}
    (hagain : ¬CommitsAgain s connection message) :
    Steps Once (onGrantCommitted connection message) s fun _ _ => True := by
  refine withSession_once fun session hsession => withGrant_once fun grant side hspeaks => ?_
  have hid := (find_grant hformed hspeaks.registered).1
  split
  · exact (abortGrant_once _ _).bind fun _ _ _ _ => once_of_level (appendAudit_level _ _ _ _ _)
  rename_i hinstalled
  have hmoved : WellFormed (setGrant s.registry message.grant (acknowledge grant side message.enforcementDigest)) :=
    setGrant_wellFormed hformed hspeaks.registered rfl rfl rfl
  refine Steps.modify_bind (once_of_same rfl) ?_
  refine Steps.bind (once_of_keeps (appendMutation_keeps (setGrant_coherent _ _ _))) fun _ s₂ _ h₂ => ?_
  split
  · rename_i hboth
    refine Steps.bind (once_of_keeps now_keeps) fun now s₃ _ h₃ => ?_
    have hregistry : s₃.registry =
        setGrant s.registry message.grant (acknowledge grant side message.enforcementDigest) := by
      rw [h₃.registry, h₂.registry]
    refine finaliseGrant_once (by rw [hregistry]; exact hmoved) now fun g hdue key r hr hgrant => hagain ?_
    have hg := hdue.registered
    rw [hregistry, hid] at hg
    simp only [setGrant, Std.ExtTreeMap.getElem?_insert_self, Option.some.injEq] at hg
    refine ⟨grant, ⟨by simpa using hinstalled, session, side, hsession, hspeaks, hboth⟩, ?_, key, ?_⟩
    · have hunused := hdue.unused
      rw [← hg] at hunused
      exact hunused
    · rw [hregistry] at hr
      refine ⟨r, hr.1, ?_, hr.2⟩
      rw [hgrant, ← hg]
      exact hid
  · exact Steps.pure trivial

/-- No grant that a report could complete has a reservation. -/
def Ready (registry : Registry) : Prop :=
  ∀ id grant, registry.grants[(id : GrantId)]? = some grant → grant.state = .indeterminate →
    grant.bothAcknowledged = true → ∀ key, ¬OpenFor registry id key

/-- Finalising a grant without an error commits it. -/
lemma finaliseGrant_ok {id : GrantId} {grant : GrantRecord} {now : Timestamp} (h : Due s id grant)
    (hok : (finaliseGrant id now s).1 = .ok ()) : CommittedIn (finaliseGrant id now s).2 id := by
  cases hrun : reserveCapacity grant now s with
  | mk result s₁ =>
    cases result with
    | ok u => exact finaliseGrant_commits h hrun
    | error status =>
      have hattempt : (reserveCapacity grant now).attempt s = (.ok (.error status), s₁) := by
        simp only [Program.attempt, hrun]
      have hthrows : Steps (fun _ _ => True) (abortGrant id status.message >>= fun _ => throw status : Op Unit) s₁
          fun _ _ => False := by
        have : IsTrans Coordinator fun _ _ => True := ⟨fun _ _ _ _ _ => trivial⟩
        have : Std.Refl fun (_ _ : Coordinator) => True := ⟨fun _ => trivial⟩
        exact Steps.bind (P := fun _ _ => True) ⟨trivial, fun _ _ => trivial⟩ fun _ _ _ _ => Steps.throw
      rw [finaliseGrant_due h, Program.bind_ok hattempt] at hok
      exact (hthrows.returns () hok).elim

/-- A grant that is finalised leaves the others as they were, and is itself no longer in doubt. -/
lemma ready_of_finalised {id : GrantId} {now : Timestamp} (hformed : WellFormed s.registry) (hready : Ready s.registry)
    {grant : GrantRecord} (hdue : Due s id grant) (hok : (finaliseGrant id now s).1 = .ok ()) :
    Ready (finaliseGrant id now s).2.registry := by
  have hguarded : Guarded (fun other => other = id) s (finaliseGrant id now s).2 :=
    (finaliseGrant_guarded (P := fun other => other = id) rfl now).related
  have hallots : Allots (fun other => other = id) s (finaliseGrant id now s).2 :=
    (finaliseGrant_allots now fun g hg => (find_grant hformed hg).1).related
  intro other g hg hstate hacks key hopen
  by_cases hother : other = id
  · have hcommitted := finaliseGrant_ok hdue hok
    rw [hother] at hg
    rw [CommittedIn, hg, Option.map_some, Option.some.injEq, hstate] at hcommitted
    cases hcommitted
  · have hsame : (finaliseGrant id now s).2.registry.grants[other]? = s.registry.grants[other]? := by
      by_contra hchanged
      exact hother (hguarded other (.inl hchanged))
    obtain ⟨r, hr, hgrant, hunreleased⟩ := hopen
    rcases hallots key r hr with hold | hthis
    · exact hready other g (by rw [← hsame]; exact hg) hstate hacks key ⟨r, hold, hgrant, hunreleased⟩
    · exact hother (hgrant.symm.trans hthis)

lemma finaliseInstalled_once (hformed : WellFormed s.registry) (hready : Ready s.registry) (id : GrantId) :
    Steps Once (finaliseInstalled id) s fun _ s' => WellFormed s'.registry ∧ Ready s'.registry := by
  refine Steps.get_bind ?_
  split
  · exact Steps.pure ⟨hformed, hready⟩
  rename_i grant hfind
  split
  · exact Steps.pure ⟨hformed, hready⟩
  rename_i hopen
  obtain ⟨hstate, hacks⟩ := not_or.mp hopen
  refine Steps.bind (once_of_keeps now_keeps) fun now s₁ _ h₁ => ?_
  rw [← h₁.registry] at hformed hready hfind
  have hdue : Due s₁ id grant := ⟨hfind, by simp [not_not.mp hstate], by simpa using hacks⟩
  have hdoes : Does trusting (finaliseGrant id now) s₁ fun _ _ => True := by
    refine finaliseGrant_does trivial hformed id now fun g hg _ _ => .inl ?_
    rw [hfind, Option.some.injEq] at hg
    rw [← hg]
    exact not_not.mp hstate
  have honce : Steps Once (finaliseGrant id now) s₁ fun _ _ => True := by
    refine finaliseGrant_once hformed now fun g hg key r hr hgrant => ?_
    refine hready id grant hfind (not_not.mp hstate) hdue.acknowledged key ⟨r, hr.1, ?_, hr.2⟩
    rw [hgrant]
    exact (find_grant hformed hg.registered).1
  exact ⟨honce.related, fun _ hok => ⟨hdoes.related.formed hformed, ready_of_finalised hformed hready hdue hok⟩⟩

/-- The fences of a report take the condemned grants out of doubt. -/
lemma ready_of_report {base next : Registry} {session : PeerSession} {message : StatusReportMessage}
    {fence : List GrantId} {last : Registry} (hswept : Halfway session message base [] fence next)
    (hreleases : Releases base last) (hgrants : ∀ id, last.grants[(id : GrantId)]? = next.grants[id]? ∨
      ∃ g, last.grants[id]? = some g ∧ g.state = .fenced)
    (hgone : ∀ id ∈ fence, ∀ g, last.grants[id]? = some g → GrantGone g.state)
    (hnone : ∀ id grant, base.grants[(id : GrantId)]? = some grant → condemned base session message grant = false →
      (reconciled base session message grant).state = .indeterminate →
      (reconciled base session message grant).bothAcknowledged = true → ∀ key, ¬OpenFor base id key) : Ready last := by
  intro id g hg hstate hacks key hopen
  rcases hgrants id with hsame | ⟨fenced, hfenced, hstate'⟩
  · rw [hg, hswept.grants id, if_neg (by simp)] at hsame
    obtain ⟨grant, hfind, hreconciled⟩ := Option.map_eq_some_iff.mp hsame.symm
    have hspared : condemned base session message grant = false := by
      by_contra hcondemned
      have hmem : id ∈ fence := (hswept.fence id).mpr ⟨by simp, grant, hfind, by simpa using hcondemned⟩
      have hgone := hgone id hmem g hg
      rw [hstate] at hgone
      simp [GrantGone] at hgone
    obtain ⟨r, hr, hgrant, hunreleased⟩ := hopen
    obtain ⟨hbefore, -⟩ := hreleases key r ⟨hr, hunreleased⟩
    refine hnone id grant hfind hspared ?_ ?_ key ⟨r, hbefore, hgrant, hunreleased⟩
    · rw [hreconciled]
      exact hstate
    · rw [hreconciled]
      exact hacks
  · rw [hg, Option.some.injEq] at hfenced
    rw [← hfenced, hstate] at hstate'
    cases hstate'

lemma onStatusReport_once (hformed : WellFormed s.registry) {connection : ℕ} {message : StatusReportMessage}
    (hagain : ¬ResumesAgain s connection message) :
    Steps Once (onStatusReport connection message) s fun _ _ => True := by
  refine withSession_once fun session hsession => Steps.modify_bind (once_of_same rfl) (Steps.get_bind ?_)
  set s₁ : Coordinator := { s with revalidations := s.revalidations + 1 }
  -- the comparison writes grants only
  have hcompare : Steps Once (Program.foldEach s.registry.grants.keys [] (reconcile session message)) s₁ fun fence s' =>
      WellFormed s'.registry ∧ s'.registry.reservations = s.registry.reservations ∧
        Halfway session message s.registry [] fence s'.registry := by
    have hsweeps : Steps Sweeps (Program.foldEach s₁.registry.grants.keys [] (reconcile session message)) s₁
        fun fence s' => Halfway session message s₁.registry [] fence s'.registry := comparison_sweeps hformed
    have hdoes : Does trusting (Program.foldEach s₁.registry.grants.keys [] (reconcile session message)) s₁
        fun _ _ => True := comparison_does
    have hboth := hdoes.and hsweeps
    have hsame (s' : Coordinator) (h : Sweeps s₁ s') : s'.registry.reservations = s.registry.reservations := by
      obtain ⟨grants, hgrants⟩ := h.grants
      rw [hgrants]
    refine (hboth.weaken fun s' h => once_of_same (hsame s' h.2)).mono fun fence s' h => ?_
    exact ⟨h.1.1.formed hformed, hsame s' h.1.2, h.2.2⟩
  refine hcompare.bind fun fence s₂ _ h₂ => Steps.get_bind ?_
  obtain ⟨hformed₂, hreservations₂, hswept⟩ := h₂
  -- the fences only release
  have hfence : Steps Once (Program.onlyIf (fence ≠ []) (fencePlanApply
      (grantsPlan s₂.registry .grantRevocation .grantNeedsRevalidation s₂.term fence) "coordinator")) s₂
      fun _ s' => WellFormed s'.registry ∧ Ready s'.registry := by
    have hnone : ∀ id grant, s.registry.grants[(id : GrantId)]? = some grant →
        condemned s.registry session message grant = false →
        (reconciled s.registry session message grant).state = .indeterminate →
        (reconciled s.registry session message grant).bothAcknowledged = true → ∀ key, ¬OpenFor s.registry id key :=
      fun id grant hfind hspared hstate hacks key hopen =>
        hagain ⟨session, id, grant, hsession, ⟨hfind, hspared, hstate, hacks⟩, key, hopen⟩
    refine Steps.onlyIf (fun _ => ?_) fun hempty => ⟨hformed₂, ?_⟩
    · have hfences : Does quiet (fencePlanApply (grantsPlan s₂.registry .grantRevocation .grantNeedsRevalidation s₂.term
          fence) "coordinator") s₂ fun _ s' => Fenced _ s₂ s' := fencePlanApply_fences hformed₂ _ _
      have hreleases (s' : Coordinator) (h : Within quiet s₂ s') : Releases s₂.registry s'.registry :=
        releases_of_edits id hformed₂ h.edits
      refine (hfences.weaken fun s' h => once_of_releases (hreleases s' h)).mono fun _ s' h => ?_
      obtain ⟨hwithin, hfenced⟩ := h
      obtain ⟨now, hfences⟩ := hfenced.fences
      refine ⟨hwithin.formed hformed₂, ready_of_report hswept ?_ (fun id => ?_) (fun id hmem => ?_) hnone⟩
      · exact fun key r hr => releases_of_same hreservations₂ key r (hreleases s' hwithin key r hr)
      · exact (hfences.grants id).imp_right fun ⟨g, _, _, hnext⟩ => ⟨_, hnext, rfl⟩
      · exact hfenced.done _ (List.mem_append_left _ (List.mem_map_of_mem hmem))
    · refine ready_of_report hswept (releases_of_same hreservations₂) (fun _ => .inl rfl) (fun id hmem => ?_) hnone
      rw [not_not.mp hempty] at hmem
      cases hmem
  refine hfence.bind fun _ s₃ _ h₃ => Steps.get_bind ?_
  refine Steps.mono (Q := fun _ s' => WellFormed s'.registry ∧ Ready s'.registry) ?_ fun _ _ _ => trivial
  exact Steps.forEach (I := fun s' : Coordinator => WellFormed s'.registry ∧ Ready s'.registry) h₃
    fun id _ s' _ h => finaliseInstalled_once h.1 h.2 id

end Handlers

/-! Runs. -/

lemma step_once {s : Coordinator} {event : Event} (hformed : WellFormed s.registry) (hagain : ¬FinalisesAgain s event)
    (hone : AtMostOne s.registry) : AtMostOne (step s event).registry := by
  by_cases hsettles : (sceneOf s event).settles
  · obtain ⟨connection, ⟨message, rfl⟩ | ⟨message, rfl⟩⟩ := hsettles
    · exact (onGrantCommitted_once hformed hagain).related hone
    · exact (onStatusReport_once hformed hagain).related hone
  · exact hone.of_releases (releases_of_edits hsettles hformed (step_within hformed event).edits)

/-- As long as no grant is finalised again while it still has a reservation, no grant has two unreleased reservations
at one endpoint. -/
theorem reserved_at_most_once (launch : Launch) (files : Files) (s : Coordinator) (hstarted : Started launch files s)
    (events : List Event) (hsteps : EachStep (fun s event => ¬FinalisesAgain s event) s events) :
    AtMostOne (run s events).registry := by
  refine run_induction (P := fun s => AtMostOne s.registry) ?_ fun before event after hsplit hone => ?_
  · obtain ⟨opened, hbooted⟩ := booted_of_started hstarted
    intro key other r r' hr _ _ _ _
    have hreleased := hbooted.dormant.reservations key r hr.1
    rw [hr.2] at hreleased
    cases hreleased
  · exact step_once (started_wellFormed hstarted before) (hsteps before event after hsplit) hone

/-! The grant of the sample runs is committed, and then attempted again. -/

/-- The keys of the unreleased reservations of a grant at an endpoint. -/
def held (registry : Registry) (grant : GrantId) (party : PartyRef) : List ReservationId :=
  registry.reservations.keys.filter fun key => registry.reservations[key]?.any fun r =>
    !r.released && r.grant == grant && r.cluster == party.cluster && r.endpoint == party.endpoint

lemma mem_held {registry : Registry} {grant : GrantId} {party : PartyRef} {key : ReservationId}
    (h : key ∈ held registry grant party) : ∃ r, Unreleased registry key r ∧ r.grant = grant ∧
      r.cluster = party.cluster ∧ r.endpoint = party.endpoint := by
  obtain ⟨-, hheld⟩ := List.mem_filter.mp h
  obtain ⟨r, hfind, hr⟩ := Option.any_eq_true _ _ |>.mp hheld
  simp only [Bool.and_eq_true, Bool.not_eq_true', beq_iff_eq] at hr
  exact ⟨r, ⟨hfind, hr.1.1.1⟩, hr.1.1.2, hr.1.2, hr.2⟩

lemma held_length {registry : Registry} (hone : AtMostOne registry) (grant : GrantId) (party : PartyRef) :
    (held registry grant party).length ≤ 1 := by
  have hnodup : (held registry grant party).Nodup := Std.ExtTreeMap.nodup_keys.filter _
  have hsame : ∀ key ∈ held registry grant party, ∀ other ∈ held registry grant party, other = key := by
    intro key hkey other hother
    obtain ⟨r, hr, hgrant, hcluster, hendpoint⟩ := mem_held hkey
    obtain ⟨r', hr', hgrant', hcluster', hendpoint'⟩ := mem_held hother
    exact hone key other r r' hr hr' (hgrant'.trans hgrant.symm) (hcluster'.trans hcluster.symm)
      (hendpoint'.trans hendpoint.symm)
  cases hheld : held registry grant party with
  | nil => simp
  | cons key rest =>
    cases rest with
    | nil => simp
    | cons other rest =>
      rw [hheld] at hnodup hsame
      have hequal := hsame key (by simp) other (by simp)
      simp [hequal] at hnodup

/-- Up to the acknowledgements of the commit. -/
def toCommit : List Event := agree ++ [issueGrant, prepared .first, prepared .second]

lemma toCommit_eachStep : EachStep (fun s event => ¬FinalisesAgain s event) sampleProcess toCommit := by
  refine eachStep_of_mem fun event hevent s => ?_
  simp only [toCommit, agree, connectAgents, List.cons_append, List.nil_append, List.mem_cons, List.not_mem_nil,
    or_false] at hevent
  rcases hevent with rfl | rfl | rfl | rfl | rfl | rfl | rfl | rfl | rfl | rfl <;> exact id

lemma not_commitsAgain {s : Coordinator} (h : s.registry.reservations.isEmpty = true) (side : Side) :
    ¬FinalisesAgain s (committed side) := by
  rintro ⟨grant, -, -, key, r, hr, -⟩
  simp [Std.ExtTreeMap.isEmpty_iff.mp h] at hr

/-- The first commit reserves both endpoints once. -/
theorem committed_reserved_once : (held sampleCommitted.registry issuedId (sampleParty .first)).length = 1 ∧
    AtMostOne sampleCommitted.registry := by
  have hfacts : (held sampleCommitted.registry issuedId (sampleParty .first)).length = 1 ∧
      (run sampleProcess toCommit).registry.reservations.isEmpty = true ∧
      (run sampleProcess (toCommit ++ [committed .first])).registry.reservations.isEmpty = true := by
    simp only [sampleCommitted_eq, toCommit, List.append_assoc, List.cons_append, List.nil_append, run_agree,
      issueGrant_eq, prepared_eq, committed_eq, issuedId_eq]
    decide +kernel
  obtain ⟨hheld, hempty, hempty'⟩ := hfacts
  have hsteps := eachStep_snoc (eachStep_snoc toCommit_eachStep (not_commitsAgain hempty .first))
    (not_commitsAgain hempty' .second)
  exact ⟨hheld, reserved_at_most_once sampleLaunch {} sampleProcess sampleProcess_started _ hsteps⟩

def revalidate : Event := .message operator (.admin { action := .revalidateGrant, grant := issuedId })

def sampleRevalidated : Coordinator := step sampleCommitted revalidate

/-- The second attempt of the grant. -/
def renewedAttempt : AttemptId :=
  (sampleRevalidated.registry.grants[issuedId]?.map GrantRecord.attempt).getD ⟨0⟩

/-- Both agents prepare and install the second attempt. -/
def commitAgain : List Event :=
  let token := tokenOf sampleProposed
  let prepares (side : Side) : Event := .message (agentOf side) (.grantPrepared {
    session := token (agentOf side), grant := issuedId, attempt := renewedAttempt, accepted := true })
  let commits (side : Side) : Event := .message (agentOf side) (.grantCommitted {
    session := token (agentOf side), grant := issuedId, attempt := renewedAttempt, installed := true })
  [prepares .first, prepares .second, commits .first, commits .second]

lemma run_through (s : Coordinator) (before : List Event) (event : Event) (after : List Event) :
    run s (before ++ event :: after) = run (step (run s before) event) after := by
  rw [run_append]
  rfl

/-- The second commit reserves the endpoints once more. -/
theorem revalidated_reserved_twice : Started sampleLaunch {} sampleProcess ∧
    ¬AtMostOne (run sampleProcess (agree ++ [issueGrant] ++ commitBoth ++ revalidate :: commitAgain)).registry := by
  have htwo : (held (run sampleRevalidated commitAgain).registry issuedId (sampleParty .first)).length = 2 := by
    simp only [commitAgain, renewedAttempt, sampleRevalidated, revalidate, sampleCommitted_eq, tokenOf_sampleProposed,
      issuedId_eq]
    decide +kernel
  rw [sampleRevalidated, sampleCommitted, ← run_through] at htwo
  refine ⟨sampleProcess_started, fun hone => ?_⟩
  have hatMost := held_length hone issuedId (sampleParty .first)
  omega

end InterClusterFabric.RuntimeOnce
