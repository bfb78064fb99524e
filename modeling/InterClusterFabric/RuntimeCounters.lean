import InterClusterFabric.RuntimeStart
import InterClusterFabric.WireCodec

/-! The generations of registered clusters. They come from the store or in frames, and both decoders bound them, so
they stay within the bounds under which they can be sent again. -/
namespace InterClusterFabric.RuntimeCounters
open CoreStatus CoreIds CoreTime CoreHash CoreBytes ModelRecords ModelCanonicalReads ModelCanonicalAccepts ModelRegistry
open ModelRegistryLaws WireMessages RuntimeCoordinator RuntimeHandlers RuntimeAdmin RuntimeRun RuntimeEdits RuntimeSteps
open RuntimeStepsHandlers RuntimeStepsAdmin RuntimeStart StoreReplay StoreCompaction LibraryChecked LibraryOrdMap
open LibraryReader LibraryProgram
open StoreDurable hiding loadState

/-- A record whose generations can be sent. -/
structure Sendable (record : ClusterRecord) : Prop where
  generation : record.generation.value ≤ Limits.maxGeneration
  policyGeneration : record.policyGeneration.value ≤ Limits.maxGeneration

/-- All registered clusters are such. -/
def AllSendable (registry : Registry) : Prop :=
  ∀ (id : ClusterId) cluster, registry.clusters[id]? = some cluster → Sendable cluster

/-- A frame that carries a record or a generation came out of the decoder of its kind. -/
def Decoded : Inbound → Prop
  | .hello message => ∃ payload full, WireCodec.decodeHello.run payload = .ok (full, []) ∧ full.toHelloMessage = message
  | .reportCluster message => ∃ payload, WireCodec.decodeReportCluster.run payload = .ok (message, [])
  | .admin message => ∃ payload, WireCodec.decodeAdmin.run payload = .ok (message, [])
  | _ => True

/-- The frame of an event, if there is one, was decoded. -/
def FromWire (event : Event) : Prop := ∀ connection frame, event = .message connection frame → Decoded frame

/-! What the decoders yield. -/

lemma toEnd_yields {α : Type} {read : ByteReader α} {P : α → Prop} (h : Yields read P) : Yields (WireCodec.toEnd read) P :=
  h.bind fun _ ha => .skip fun _ => .pure ha

lemma hello_yields : Yields WireCodec.decodeHello fun message =>
    message.generation.value ≤ Limits.maxGeneration ∧ message.policyGeneration.value ≤ Limits.maxGeneration := by
  refine toEnd_yields ?_
  refine .skip fun _ => .skip fun _ => .skip fun _ => .skip fun _ => ?_
  refine (counter_yields _).bind fun _ hgeneration => (counter_yields _).bind fun _ hpolicy => ?_
  refine .skip fun _ => .skip fun _ => .skip fun _ => .skip fun _ => .skip fun _ => .skip fun _ => .skip fun _ => ?_
  exact .pure ⟨hgeneration, hpolicy⟩

lemma sendable_of_storable {record : ClusterRecord} (h : ClusterStorable record) : Sendable record :=
  ⟨h.2.2.1, h.2.2.2.1⟩

lemma report_yields : Yields WireCodec.decodeReportCluster fun message => Sendable message.cluster := by
  refine toEnd_yields (.skip fun _ => cluster_yields.bind fun _ hcluster => .pure ?_)
  exact sendable_of_storable hcluster.1

lemma optional_yields {α : Type} {decode : ByteReader α} {P : α → Prop} (h : Yields decode P) :
    Yields (WireCodec.decodeOptional decode) fun record => ∀ r ∈ record, P r := by
  refine .skip fun present => ?_
  split
  · exact h.map fun a ha r hr => by
      rw [← Option.some.inj hr]
      exact ha
  · exact .pure (by simp)

lemma admin_yields : Yields WireCodec.decodeAdmin fun message =>
    (∀ record ∈ message.cluster, Sendable record) ∧ message.generation.value ≤ Limits.maxGeneration := by
  refine toEnd_yields ?_
  refine .skip fun _ => .skip fun _ => (optional_yields cluster_yields).bind fun _ hcluster => ?_
  refine .skip fun _ => .skip fun _ => .skip fun _ => .skip fun _ => .skip fun _ => .skip fun _ => .skip fun _ => ?_
  refine .skip fun _ => .skip fun _ => .skip fun _ => .skip fun _ => ?_
  refine (counter_yields _).bind fun _ hgeneration => ?_
  refine .skip fun _ => .skip fun _ => .skip fun _ => .skip fun _ => .skip fun _ => .pure ⟨?_, hgeneration⟩
  exact fun record hrecord => sendable_of_storable (hcluster record hrecord).1

/-! Steps. -/

/-- A scene in which only such records are registered, and such a record is followed by such a record. -/
structure Careful (scene : Scene) : Prop where
  registers : ∀ record, scene.registers record → Sendable record
  replaces : ∀ record, scene.replaces record → Sendable record
  renews : ∀ id cluster next, scene.renews id cluster next → Sendable cluster → Sendable next

lemma AllSendable.edit {scene : Scene} (hscene : Careful scene) {registry next : Registry} (h : AllSendable registry)
    (hedit : Edit scene registry next) : AllSendable next := by
  intro id cluster hcluster
  rcases edit_clusters hedit id with
    hsame | ⟨old, new, hold, hnew, hflags⟩ | ⟨-, hfresh⟩ | ⟨record, hnew, -, hreplaces⟩ | ⟨hgone, -⟩
  · exact h id cluster (hsame.symm.trans hcluster)
  · rw [hcluster, Option.some.injEq] at hnew
    subst hnew
    have hsendable := h id old hold
    rcases hflags.claim with hclaim | hrenews
    · exact ⟨by rw [hclaim.generation]; exact hsendable.generation,
        by rw [hclaim.policyGeneration]; exact hsendable.policyGeneration⟩
    · exact hscene.renews id old cluster hrenews hsendable
  · obtain ⟨-, record, rfl, -, hregisters⟩ := hfresh cluster hcluster
    obtain ⟨hgeneration, hpolicy⟩ := hscene.registers record hregisters
    exact ⟨hgeneration, hpolicy⟩
  · rw [hcluster, Option.some.injEq] at hnew
    subst hnew
    obtain ⟨hgeneration, hpolicy⟩ := hscene.replaces record hreplaces
    exact ⟨hgeneration, hpolicy⟩
  · rw [hcluster] at hgone
    cases hgone

lemma AllSendable.edits {scene : Scene} (hscene : Careful scene) {registry next : Registry} (h : AllSendable registry)
    (hedits : Edits scene registry next) : AllSendable next := by
  induction hedits with
  | refl => exact h
  | tail _ hedit ih => exact ih.edit hscene hedit

/-- What a recovery holds was decoded. -/
lemma allSendable_of_sane {registry : Registry} (h : Sane registry) : AllSendable registry := by
  intro id cluster hcluster
  have hfind : find registry (.cluster id) = some (.cluster cluster) := by rw [find, hcluster, Option.map_some]
  exact sendable_of_storable (h.storable.records _ _ hfind)

lemma allSendable_of_started {launch : Launch} {files : StoreDurable.Files} {s : Coordinator} (h : Started launch files s) :
    AllSendable s.registry := by
  obtain ⟨opened, hopened, hedits⟩ := edits_of_started h
  have hquiet : Careful quiet := ⟨fun _ h => h.elim, fun _ h => h.elim, fun _ _ _ h => h.elim⟩
  exact (allSendable_of_sane (sane_of_openStore hopened)).edits hquiet hedits

/-- The scene of a step that writes cluster records, as far as their generations go. -/
def careful : Scene :=
  { quiet with
    replaces := Sendable
    clears := fun _ => True
    renews := fun _ cluster next => Sendable cluster → Sendable next }

lemma careful_careful : Careful careful :=
  ⟨fun _ h => h.elim, fun _ h => h, fun _ _ _ h => h⟩

section Steps

variable {s : Coordinator}

lemma onReportCluster_careful (connection : ℕ) {message : ReportClusterMessage} (h : Sendable message.cluster) :
    Does careful (onReportCluster connection message) s fun _ _ => True := by
  refine onReportCluster_does _ _ (fun _ _ _ _ _ => ⟨h.generation, h.policyGeneration⟩) trivial ?_
  exact fun _ _ _ _ hgeneration hpolicy hcluster =>
    ⟨by rw [hgeneration]; exact hcluster.generation, by rw [hpolicy]; exact hcluster.policyGeneration⟩

lemma upsertCluster_careful {request : AdminMessage} (h : ∀ record ∈ request.cluster, Sendable record) :
    Does careful (upsertCluster request) s fun _ _ => True := by
  refine upsertCluster_does request fun record cluster hcluster _ _ _ hgeneration hpolicy => ?_
  have hsendable := h cluster hcluster
  exact ⟨by rw [hgeneration]; exact hsendable.generation, by rw [hpolicy]; exact hsendable.policyGeneration⟩

lemma applyConflictResolution_careful {request : AdminMessage} (h : request.generation.value ≤ Limits.maxGeneration) :
    Does careful (applyConflictResolution request) s fun _ _ => True := by
  refine applyConflictResolution_does request trivial fun cluster next _ hgeneration hpolicy hcluster => ?_
  exact ⟨by rw [hgeneration]; exact h, by rw [hpolicy]; exact hcluster.policyGeneration⟩

/-- In the scene of a handshake the generations are those of the message. -/
lemma hello_careful (connection : ℕ) {message : HelloMessage}
    (h : message.generation.value ≤ Limits.maxGeneration ∧ message.policyGeneration.value ≤ Limits.maxGeneration) :
    Careful (sceneOf s (.message connection (.hello message))) where
  registers := by
    rintro _ ⟨_, _, lastSeen, observedAt, heq, rfl⟩
    cases heq
    exact ⟨h.1, h.2⟩
  replaces := by
    rintro _ (⟨_, _, _, _, _, _, heq, -⟩ | ⟨_, _, ⟨_, heq, -⟩, -⟩) <;> cases heq
  renews := by
    rintro _ cluster next (⟨_, _, heq, -, -, hrenewal⟩ | ⟨_, _, heq, -⟩ | ⟨_, ⟨_, heq, -⟩, -⟩) hcluster
    · cases heq
      cases hrenewal with
      | reincarnate lastSeen observedAt hincarnation => exact ⟨h.1, hcluster.policyGeneration⟩
      | advance lastSeen hgeneration hpolicy => exact ⟨hcluster.generation, h.2⟩
    · cases heq
    · cases heq

/-- An action that writes no cluster record of its own. -/
lemma admin_careful (connection : ℕ) {request : AdminMessage} (hupsert : request.action ≠ .upsertCluster)
    (hresolve : request.action ≠ .resolveConflict) : Careful (sceneOf s (.message connection (.admin request))) where
  registers := by
    rintro _ ⟨_, _, _, _, heq, -⟩
    cases heq
  replaces := by
    rintro _ (⟨_, _, _, _, _, _, heq, -⟩ | ⟨_, _, ⟨_, heq, -⟩, haction, -⟩)
    · cases heq
    · cases heq
      exact absurd haction hupsert
  renews := by
    rintro _ cluster next (⟨_, _, heq, -⟩ | ⟨_, _, heq, -⟩ | ⟨_, ⟨_, heq, -⟩, haction, -⟩) hcluster
    · cases heq
    · cases heq
    · cases heq
      exact absurd haction hresolve

/-- Neither does any other event. -/
lemma other_careful {event : Event} (hhello : ∀ connection message, event ≠ .message connection (.hello message))
    (hreport : ∀ connection message, event ≠ .message connection (.reportCluster message))
    (hadmin : ∀ connection request, event ≠ .message connection (.admin request)) : Careful (sceneOf s event) where
  registers := fun _ ⟨connection, message, _, _, heq, _⟩ => absurd heq (hhello connection message)
  replaces := by
    rintro _ (⟨connection, message, _, _, _, _, heq, -⟩ | ⟨request, _, ⟨connection, heq, -⟩, -⟩)
    · exact absurd heq (hreport connection message)
    · exact absurd heq (hadmin connection request)
  renews := by
    rintro _ _ _ (⟨connection, message, heq, -⟩ | ⟨connection, message, heq, -⟩ | ⟨request, ⟨connection, heq, -⟩, -⟩)
    · exact absurd heq (hhello connection message)
    · exact absurd heq (hreport connection message)
    · exact absurd heq (hadmin connection request)

/-- An administrative action whose own part is done in a scene, as a step. -/
lemma AllSendable.administered (h : AllSendable s.registry) {event : Event} {request : AdminMessage}
    (hadmin : Administers s event request) (hdoes : Does careful (handleAdmin request) s fun _ _ => True) :
    AllSendable (step s event).registry := by
  rw [(step_admin_kept hadmin).registry]
  exact h.edits careful_careful hdoes.related.edits

lemma AllSendable.admin (h : AllSendable s.registry) (hformed : WellFormed s.registry) (connection : ℕ)
    {request : AdminMessage} (hcluster : ∀ record ∈ request.cluster, Sendable record)
    (hgeneration : request.generation.value ≤ Limits.maxGeneration) :
    AllSendable (step s (.message connection (.admin request))).registry := by
  by_cases hmay : mayAdminister s connection = true
  · have hadmin : Administers s (.message connection (.admin request)) request := ⟨connection, rfl, hmay⟩
    by_cases hupsert : request.action = .upsertCluster
    · refine h.administered hadmin ?_
      simp only [handleAdmin, hupsert]
      exact upsertCluster_careful hcluster
    by_cases hresolve : request.action = .resolveConflict
    · refine h.administered hadmin ?_
      simp only [handleAdmin, hresolve]
      exact applyConflictResolution_careful hgeneration
    exact h.edits (admin_careful connection hupsert hresolve) (step_within hformed _).edits
  · -- the action is refused
    have hrefused : Does careful (onAdmin connection request) s fun _ _ => True := by
      unfold onAdmin
      refine Steps.get_bind ?_
      rw [if_pos (by simpa using hmay)]
      exact replay_error_does _ _ _ _
    exact h.edits careful_careful hrefused.related.edits

/-- What a decoded frame does leaves only records that can be sent. -/
lemma AllSendable.step (h : AllSendable s.registry) (hformed : WellFormed s.registry) {event : Event}
    (hwire : FromWire event) : AllSendable (step s event).registry := by
  have hother (hcareful : Careful (sceneOf s event)) : AllSendable (RuntimeRun.step s event).registry :=
    h.edits hcareful (step_within hformed event).edits
  cases event with
  | disconnect connection reason => exact hother (other_careful (by simp) (by simp) (by simp))
  | tick => exact hother (other_careful (by simp) (by simp) (by simp))
  | message connection frame =>
    have hdecoded := hwire connection frame rfl
    cases frame with
    | hello message =>
      obtain ⟨payload, full, hread, rfl⟩ := hdecoded
      exact hother (hello_careful connection (hello_yields _ _ _ hread))
    | reportCluster message =>
      obtain ⟨payload, hread⟩ := hdecoded
      have hdoes := onReportCluster_careful (s := s) connection (report_yields _ _ _ hread)
      exact h.edits careful_careful hdoes.related.edits
    | admin request =>
      obtain ⟨payload, hread⟩ := hdecoded
      obtain ⟨hcluster, hgeneration⟩ := admin_yields _ _ _ hread
      exact h.admin hformed connection hcluster hgeneration
    | _ => exact hother (other_careful (by simp) (by simp) (by simp))

end Steps

/-- In every run of a started process over decoded frames the generations of the registered clusters can be sent. -/
lemma run_sendable {launch : Launch} {files : StoreDurable.Files} {s : Coordinator} (hstarted : Started launch files s)
    {events : List Event} (hwire : ∀ event ∈ events, FromWire event) : AllSendable (run s events).registry := by
  refine run_induction (P := fun s => AllSendable s.registry) (allSendable_of_started hstarted)
    fun before event after heq h => ?_
  exact h.step (started_wellFormed hstarted before) (hwire event (by rw [heq]; simp))

end InterClusterFabric.RuntimeCounters
